/-
**Line separators and the content that is read.**

A document is written as it is with two line separators, and both texts are read again.  If no
entity stands for a line ending, the documents that are read are equal: the separator does not
matter.  With entities for carriage return or line feed they are equal only if the same is read in
place of a line ending, or if there are no line endings in character data.

Main definitions:

* `Text.lines` — the number of line endings in a text;
* `Item.sumTexts` — a number of all character data, added up;
* `Item.HasNoLineEnding` — there is no line ending in character data.

Main results:

* `Fragment.sumTexts_itemsFrom` — no character is lost or made when fragments become items;
* `Writer.readAgain_withSeparator_eq_iff` — when two documents that are read are equal;
* `Document.parse_separators_eq_iff` — the same for texts;
* `Document.parse_separators_eq` — without entities for line endings.
-/

import XmlScribe.Proofs.Document.RoundTrip
import XmlScribe.Proofs.Writer.Separator

set_option autoImplicit false

namespace XmlScribe

open Builder Fragment

/-! ### Counting -/

namespace Text

/-- The number of line endings in a text. -/
def lines (data : Text) : Nat :=
  (endLinesWith ['\n'] data).count '\n'

/-- A character of a line ending stands in a text as often as in the separators. -/
theorem count_endLinesWith {c : Char} (hc : c = '\r' ∨ c = '\n') (sep data : Text) :
    (endLinesWith sep data).count c = lines data * sep.count c := by
  have hline : ∀ s, (endLinesWith sep s).count c = lines s * sep.count c →
      (sep ++ endLinesWith sep s).count c =
        ('\n' :: endLinesWith ['\n'] s).count '\n' * sep.count c := by
    intro s hs
    rw [List.count_append, hs, List.count_cons_self, Nat.succ_mul, Nat.add_comm]
    rfl
  rw [lines]
  induction data using lineInduction with
  | nil => simp
  | pair s ih => exact hline s ih
  | lone s hs ih =>
      rw [endLinesWith_return hs, endLinesWith_return hs]
      exact hline s ih
  | feed s ih => exact hline s ih
  | char d s hr hn ih =>
      have hd : d ≠ c := by
        rcases hc with rfl | rfl
        · exact hr
        · exact hn
      rw [endLinesWith_cons hr hn, endLinesWith_cons hr hn, List.count_cons_of_ne hd,
        List.count_cons_of_ne hn, ih]

theorem lines_eq_zero_iff {data : Text} : lines data = 0 ↔ '\r' ∉ data ∧ '\n' ∉ data := by
  rw [lines, List.count_eq_zero]
  induction data using lineInduction with
  | nil => simp
  | pair s => simp
  | lone s hs => simp [endLinesWith_return hs]
  | feed s => simp
  | char c s hr hn ih =>
      rw [endLinesWith_cons hr hn]
      simp [ih, Ne.symm hr, Ne.symm hn]

end Text

namespace Item

mutual

/-- A number of the character data in the item, added up. -/
def sumTextsAt (f : Text → Nat) : Item → Nat
  | element _ _ content => sumTexts f content
  | text data => f data
  | _ => 0

/-- A number of the character data in the items, added up. -/
def sumTexts (f : Text → Nat) : List Item → Nat
  | [] => 0
  | item :: items => sumTextsAt f item + sumTexts f items

end

theorem sumTexts_append (f : Text → Nat) (items more : List Item) :
    sumTexts f (items ++ more) = sumTexts f items + sumTexts f more := by
  induction items with
  | nil => exact (Nat.zero_add _).symm
  | cons item items ih => rw [List.cons_append, sumTexts, sumTexts, ih, Nat.add_assoc]

/-- There is no line ending in character data. -/
def HasNoLineEnding : Item → Prop
  | text data => '\r' ∉ data ∧ '\n' ∉ data
  | _ => True

mutual

theorem sumTextsAt_lines_eq_zero_iff : ∀ item : Item,
    item.sumTextsAt Text.lines = 0 ↔ item.EverywhereAt HasNoLineEnding
  | element _ _ content => by
      rw [sumTextsAt, sumTexts_lines_eq_zero_iff content]
      simp [EverywhereAt, HasNoLineEnding]
  | text _ => Text.lines_eq_zero_iff
  | cdata _ => by simp [sumTextsAt, EverywhereAt, HasNoLineEnding]
  | comment _ => by simp [sumTextsAt, EverywhereAt, HasNoLineEnding]
  | instruction _ _ => by simp [sumTextsAt, EverywhereAt, HasNoLineEnding]
  | doctype _ => by simp [sumTextsAt, EverywhereAt, HasNoLineEnding]

/-- There are no line endings exactly if there are none in any character data. -/
theorem sumTexts_lines_eq_zero_iff : ∀ items : List Item,
    sumTexts Text.lines items = 0 ↔ Everywhere HasNoLineEnding items
  | [] => by simp [sumTexts, Everywhere]
  | item :: items => by
      rw [sumTexts, Nat.add_eq_zero_iff, sumTextsAt_lines_eq_zero_iff item,
        sumTexts_lines_eq_zero_iff items, Everywhere]

end

end Item

namespace Fragment

mutual

/-- How often a character is read from a fragment as character data. -/
def countCharsAt (c : Char) : Fragment → Nat
  | element _ _ _ content => countChars c content
  | chars _ data => data.count c
  | _ => 0

/-- How often a character is read from some fragments as character data. -/
def countChars (c : Char) : List Fragment → Nat
  | [] => 0
  | f :: fragments => countCharsAt c f + countChars c fragments

end

theorem countChars_append (c : Char) (fragments more : List Fragment) :
    countChars c (fragments ++ more) = countChars c fragments + countChars c more := by
  induction fragments with
  | nil => exact (Nat.zero_add _).symm
  | cons f fragments ih => rw [List.cons_append, countChars, countChars, ih, Nat.add_assoc]

theorem sumTexts_flush (c : Char) (data : Text) :
    Item.sumTexts (List.count c) (flush data) = data.count c := by
  cases data with
  | nil => rfl
  | cons d data => rfl

mutual

theorem sumTexts_itemsAt (c : Char) : ∀ (f : Fragment) (waiting : Text),
    Item.sumTexts (List.count c) (itemsAt waiting f).1 + (itemsAt waiting f).2.count c =
      waiting.count c + countCharsAt c f
  | element name attributes closed content, waiting => by
      have hinner := sumTexts_itemsFrom c content []
      rw [List.count_nil, Nat.zero_add] at hinner
      rw [itemsAt, countCharsAt, ← hinner]
      simp only [Item.sumTexts_append, sumTexts_flush, Item.sumTexts, Item.sumTextsAt,
        List.count_nil, Nat.add_zero]
  | chars _ data, waiting => by
      simp [itemsAt, countCharsAt, Item.sumTexts]
  | cdata _, waiting => by
      simp [itemsAt, countCharsAt, Item.sumTexts_append, sumTexts_flush, Item.sumTexts,
        Item.sumTextsAt]
  | comment _, waiting => by
      simp [itemsAt, countCharsAt, Item.sumTexts_append, sumTexts_flush, Item.sumTexts,
        Item.sumTextsAt]
  | instruction _ _, waiting => by
      simp [itemsAt, countCharsAt, Item.sumTexts_append, sumTexts_flush, Item.sumTexts,
        Item.sumTextsAt]

/-- No character is lost or made when fragments become items. -/
theorem sumTexts_itemsFrom (c : Char) : ∀ (fragments : List Fragment) (waiting : Text),
    Item.sumTexts (List.count c) (itemsFrom waiting fragments).1 +
        (itemsFrom waiting fragments).2.count c =
      waiting.count c + countChars c fragments
  | [], waiting => by simp [itemsFrom, countChars, Item.sumTexts]
  | f :: fragments, waiting => by
      have hf := sumTexts_itemsAt c f waiting
      have hrest := sumTexts_itemsFrom c fragments (itemsAt waiting f).2
      rw [itemsFrom, countChars]
      simp only [Item.sumTexts_append]
      omega

end

end Fragment

namespace Writer

variable {W : Writer} {escaper : Escaper} {subsets : Subsets} {c : Char}

/-! ### Two separators -/

mutual

theorem countChars_fragmentsAt (hc : c = '\r' ∨ c = '\n') (sep sep' : Text) : ∀ item : Item,
    countChars c ((W.withSeparator sep).fragmentsAt escaper 0 false item) +
        item.sumTextsAt Text.lines * sep'.count c =
      countChars c ((W.withSeparator sep').fragmentsAt escaper 0 false item) +
        item.sumTextsAt Text.lines * sep.count c
  | .element name attributes content => by
      have hcontent := countChars_verbatim hc sep sep' content
      rw [fragmentsAt_element, fragmentsAt_element]
      cases content with
      | nil => simp [countChars, countCharsAt, inside, Item.sumTextsAt, Item.sumTexts]
      | cons item items => simpa [countChars, countCharsAt, inside, Item.sumTextsAt] using hcontent
  | .text data => by
      have hspell : ∀ sep, countChars c ((W.withSeparator sep).fragmentsAt escaper 0 false
          (.text data)) = Text.lines data * sep.count c := by
        intro sep
        rw [fragmentsAt, spellText, Text.withLineEndings_eq, countChars, countCharsAt, countChars,
          Nat.add_zero]
        exact Text.count_endLinesWith hc sep data
      rw [hspell, hspell]
      exact Nat.add_comm _ _
  | .cdata _ => by
      simp only [Item.sumTextsAt, Nat.zero_mul]
      rfl
  | .comment _ => by
      simp only [Item.sumTextsAt, Nat.zero_mul]
      rfl
  | .instruction _ _ => by
      simp only [Item.sumTextsAt, Nat.zero_mul]
      rfl
  | .doctype _ => by
      simp only [Item.sumTextsAt, Nat.zero_mul]
      rfl

/-- Two separators make a difference for every line ending. -/
theorem countChars_verbatim (hc : c = '\r' ∨ c = '\n') (sep sep' : Text) : ∀ items : List Item,
    countChars c ((W.withSeparator sep).verbatim escaper items) +
        Item.sumTexts Text.lines items * sep'.count c =
      countChars c ((W.withSeparator sep').verbatim escaper items) +
        Item.sumTexts Text.lines items * sep.count c
  | [] => by simp [verbatim, countChars, Item.sumTexts]
  | item :: items => by
      have hitem := countChars_fragmentsAt hc sep sep' item
      have hrest := countChars_verbatim hc sep sep' items
      rw [verbatim, verbatim, countChars_append, countChars_append, Item.sumTexts, Nat.add_mul,
        Nat.add_mul]
      omega

end

mutual

theorem fragmentsAt_withSeparator (sep sep' : Text) : ∀ item : Item,
    item.EverywhereAt Item.HasNoLineEnding →
      (W.withSeparator sep).fragmentsAt escaper 0 false item =
        (W.withSeparator sep').fragmentsAt escaper 0 false item
  | .element name attributes content, h => by
      have hcontent := verbatim_withSeparator sep sep' content h.2
      have hinside : (W.withSeparator sep).inside escaper 0 false name content =
          (W.withSeparator sep').inside escaper 0 false name content := by
        rw [inside, inside]
        simp only [Bool.false_and, Bool.false_eq_true, if_false, hcontent]
      rw [fragmentsAt_element, fragmentsAt_element, hinside]
      rfl
  | .text data, h => by
      rw [fragmentsAt, fragmentsAt, spellText, spellText, Text.withLineEndings_eq,
        Text.withLineEndings_eq, Text.endLinesWith_of_not_mem h.1 h.2,
        Text.endLinesWith_of_not_mem h.1 h.2]
  | .cdata _, _ => rfl
  | .comment _, _ => rfl
  | .instruction _ _, _ => rfl
  | .doctype _, _ => rfl

/-- Without line endings the separator makes no difference. -/
theorem verbatim_withSeparator (sep sep' : Text) : ∀ items : List Item,
    Item.Everywhere Item.HasNoLineEnding items →
      (W.withSeparator sep).verbatim escaper items = (W.withSeparator sep').verbatim escaper items
  | [], _ => rfl
  | item :: items, h => by
      rw [verbatim, verbatim, fragmentsAt_withSeparator sep sep' item h.1,
        verbatim_withSeparator sep sep' items h.2]

end

/-! ### Documents -/

/-- Outside all elements an element is counted as inside. -/
theorem sumTexts_itemsOutside_element (name : QName)
    (attributes : List (Attribute × WrittenAttribute)) (closed : Bool) (content : List Fragment) :
    Item.sumTexts (List.count c) (itemsOutside [.element name attributes closed content]) =
      countChars c [.element name attributes closed content] := by
  have hone := sumTexts_itemsFrom c [.element name attributes closed content] []
  simpa [itemsOutside, itemsFrom, itemsAt] using hone

theorem sumTexts_outsideAt (hf : W.settings.formatted = false) (hc : c = '\r' ∨ c = '\n')
    (sep sep' : Text) {item : Item} (hs : item.IsSoundOutside subsets) (afterRoot : Bool) :
    Item.sumTexts (List.count c)
          (itemsOutside ((W.withSeparator sep).outsideAt escaper afterRoot item)) +
        item.sumTextsAt Text.lines * sep'.count c =
      Item.sumTexts (List.count c)
          (itemsOutside ((W.withSeparator sep').outsideAt escaper afterRoot item)) +
        item.sumTextsAt Text.lines * sep.count c := by
  have hformatted : ∀ sep, (W.withSeparator sep).settings.formatted = false := fun _ => hf
  cases item with
  | element name attributes content =>
      have helement := @countChars_fragmentsAt W escaper c hc sep sep'
        (.element name attributes content)
      rw [outsideAt, outsideAt, hformatted, hformatted]
      rw [fragmentsAt_element, fragmentsAt_element] at helement ⊢
      rwa [sumTexts_itemsOutside_element, sumTexts_itemsOutside_element]
  | comment data =>
      rw [itemsOutside_comment, itemsOutside_comment]
      simp [Item.sumTextsAt]
  | instruction target data =>
      rw [itemsOutside_instruction, itemsOutside_instruction]
      simp [Item.sumTextsAt]
  | doctype d => simp [outsideAt, Item.sumTextsAt]
  | text data => exact hs.elim
  | cdata data => exact hs.elim

/-- Two separators make a difference for every line ending of a document. -/
theorem sumTexts_bodyFragments (hf : W.settings.formatted = false) (hc : c = '\r' ∨ c = '\n')
    (sep sep' : Text) {items : List Item} (hs : ∀ item ∈ items, item.IsSoundOutside subsets) :
    Item.sumTexts (List.count c)
          (itemsOutside ((W.withSeparator sep).bodyFragments escaper items)) +
        Item.sumTexts Text.lines items * sep'.count c =
      Item.sumTexts (List.count c)
          (itemsOutside ((W.withSeparator sep').bodyFragments escaper items)) +
        Item.sumTexts Text.lines items * sep.count c := by
  rw [itemsOutside_bodyFragments, itemsOutside_bodyFragments]
  generalize false = afterRoot
  induction items generalizing afterRoot with
  | nil => simp [outside, itemsOutside, Item.sumTexts]
  | cons item items ih =>
      have hitem := @sumTexts_outsideAt W escaper subsets c hf hc sep sep' item
        (hs item List.mem_cons_self) afterRoot
      have hrest := ih (fun other ho => hs other (List.mem_cons_of_mem item ho))
        (afterRoot || item.isElement)
      rw [outside, outside, itemsOutside_append, itemsOutside_append, Item.sumTexts_append,
        Item.sumTexts_append, Item.sumTexts, Nat.add_mul, Nat.add_mul]
      omega

/-- Without line endings the separator makes no difference outside all elements either. -/
theorem itemsOutside_withSeparator (hf : W.settings.formatted = false) (sep sep' : Text)
    {items : List Item} (h : Item.Everywhere Item.HasNoLineEnding items) :
    itemsOutside ((W.withSeparator sep).bodyFragments escaper items) =
      itemsOutside ((W.withSeparator sep').bodyFragments escaper items) := by
  have hformatted : ∀ sep, (W.withSeparator sep).settings.formatted = false := fun _ => hf
  rw [itemsOutside_bodyFragments, itemsOutside_bodyFragments]
  generalize false = afterRoot
  induction items generalizing afterRoot with
  | nil => rfl
  | cons item items ih =>
      have hitem : itemsOutside ((W.withSeparator sep).outsideAt escaper afterRoot item) =
          itemsOutside ((W.withSeparator sep').outsideAt escaper afterRoot item) := by
        cases item with
        | element name attributes content =>
            rw [outsideAt, outsideAt, hformatted, hformatted,
              fragmentsAt_withSeparator sep sep' _ h.1]
        | comment data =>
            rw [itemsOutside_comment, itemsOutside_comment]
        | instruction target data =>
            rw [itemsOutside_instruction, itemsOutside_instruction]
        | _ => rfl
      rw [outside, outside, itemsOutside_append, itemsOutside_append, hitem, ih h.2]

end Writer

/-- What is read in place of a line ending has at most two characters. -/
theorem EntityTable.lineAgain_mem (table : EntityTable) (sep : Text) :
    table.lineAgain sep ∈ [['\n'], ['\r'], ['\r', '\n'], ['\n', '\n']] := by
  rw [lineAgain]
  split
  · split <;> decide
  · split
    · split
      · decide
      · split <;> decide
    · decide

namespace Writer

variable {W : Writer} {escaper : Escaper} {subsets : Subsets} {doc : Document}

/-- Two documents that are read are equal if the same is read in place of a line ending, or if there
is no line ending. -/
theorem readAgain_withSeparator_eq_iff (hs : doc.IsSound subsets)
    (hf : W.settings.formatted = false) (table : EntityTable) (sep sep' : Text) :
    (W.withSeparator (table.lineAgain sep)).readAgain escaper doc =
        (W.withSeparator (table.lineAgain sep')).readAgain escaper doc ↔
      table.lineAgain sep = table.lineAgain sep' ∨
        Item.Everywhere Item.HasNoLineEnding doc.content := by
  have hjoined : Item.Everywhere Item.HasNoLineEnding (Item.joined doc.content) ↔
      Item.Everywhere Item.HasNoLineEnding doc.content :=
    Item.everywhere_joined (fun s t => by simp [Item.HasNoLineEnding]; tauto)
      (fun _ _ _ => Iff.rfl) doc.content
  constructor
  · -- equal documents have as many carriage returns and as many line feeds, and these tell apart
    -- all that can be read in place of a line ending
    intro heq
    have hitems := List.append_cancel_left (congrArg Document.content heq)
    rw [← hjoined, ← Item.sumTexts_lines_eq_zero_iff]
    have hcount : ∀ c, c = '\r' ∨ c = '\n' →
        Item.sumTexts Text.lines (Item.joined doc.content) = 0 ∨
          (table.lineAgain sep).count c = (table.lineAgain sep').count c := by
      intro c hc
      have hsum := @sumTexts_bodyFragments W escaper subsets c hf hc (table.lineAgain sep)
        (table.lineAgain sep') _ (Item.isSoundOutside_joined hs.content)
      rw [hitems] at hsum
      have hmul := Nat.add_left_cancel hsum
      rcases Nat.eq_zero_or_pos (Item.sumTexts Text.lines (Item.joined doc.content)) with hz | hp
      · exact Or.inl hz
      · exact Or.inr (Nat.eq_of_mul_eq_mul_left hp hmul).symm
    by_cases hz : Item.sumTexts Text.lines (Item.joined doc.content) = 0
    · exact Or.inr hz
    · have hr := (hcount '\r' (Or.inl rfl)).resolve_left hz
      have hn := (hcount '\n' (Or.inr rfl)).resolve_left hz
      have hall : ∀ a ∈ [['\n'], ['\r'], ['\r', '\n'], ['\n', '\n']],
          ∀ b ∈ [['\n'], ['\r'], ['\r', '\n'], ['\n', '\n']],
            a.count '\r' = b.count '\r' → a.count '\n' = b.count '\n' → a = b := by
        decide
      exact Or.inl (hall _ (table.lineAgain_mem sep) _ (table.lineAgain_mem sep') hr hn)
  · rintro (heq | hno)
    · rw [heq]
    · have hitems := @itemsOutside_withSeparator W escaper hf (table.lineAgain sep)
        (table.lineAgain sep') _ (hjoined.2 hno)
      rw [readAgain, readAgain, hitems]
      rfl

end Writer

namespace Document

variable {subsets : Subsets} {x s s' : Text} {doc : Document} {settings : Settings}

/-- The text that is written with a separator is read with what the separator becomes. -/
theorem exists_parse_separator (h : doc.IsReadFrom subsets x) (hf : settings.formatted = false)
    (hh : settings.heading = none)
    (hl : Charset.forWriting? settings.encodingLabel = some settings.charset) {sep : Text}
    (hsep : sep ∈ Text.lineEndings) (profile : Profile) (F : Forest)
    (hd : ((Writer.quiet { settings with separator := sep } profile).documentText
      (F.plant doc).1 (F.plant doc).2).2 = .ok s) :
    ∃ table, (Writer.quiet settings profile).entityTable doc.doctype? = .ok table ∧
      parse subsets s = .ok (((Writer.quiet settings profile).withSeparator
        (table.lineAgain sep)).readAgain (settings.escaper table) doc) := by
  have hfaithful : ((Writer.quiet settings profile).withSeparator ['\n']).IsFaithful :=
    ⟨hh, rfl, hl, fun ht => absurd (hf.symm.trans ht) (by decide)⟩
  have hheading : ({ settings with separator := sep } : Settings).heading = none := hh
  obtain ⟨table, ht, -, rfl⟩ := (Writer.documentText_eq_ok_iff (Forest.isPlanted_plant F doc)
    h.isSound hheading).1 hd
  exact ⟨table, ht, Writer.parse_withSeparator h.isSound h.isWritable hfaithful hf hsep ht⟩

/-- **Two separators.**  The documents that are read from the two texts are equal exactly if the
same is read in place of a line ending, or if no character data has one. -/
theorem parse_separators_eq_iff (h : doc.IsReadFrom subsets x) (hf : settings.formatted = false)
    (hh : settings.heading = none)
    (hl : Charset.forWriting? settings.encodingLabel = some settings.charset) {sep sep' : Text}
    (hsep : sep ∈ Text.lineEndings) (hsep' : sep' ∈ Text.lineEndings) (profile : Profile)
    (F : Forest)
    (hd : ((Writer.quiet { settings with separator := sep } profile).documentText
      (F.plant doc).1 (F.plant doc).2).2 = .ok s)
    (hd' : ((Writer.quiet { settings with separator := sep' } profile).documentText
      (F.plant doc).1 (F.plant doc).2).2 = .ok s') :
    ∃ table again again', (Writer.quiet settings profile).entityTable doc.doctype? = .ok table ∧
      parse subsets s = .ok again ∧ parse subsets s' = .ok again' ∧
      (again = again' ↔ table.lineAgain sep = table.lineAgain sep' ∨
        Item.Everywhere Item.HasNoLineEnding doc.content) := by
  obtain ⟨table, ht, hparse⟩ := exists_parse_separator h hf hh hl hsep profile F hd
  obtain ⟨table', ht', hparse'⟩ := exists_parse_separator h hf hh hl hsep' profile F hd'
  obtain rfl : table = table' := Except.ok.inj (ht.symm.trans ht')
  exact ⟨table, _, _, ht, hparse, hparse',
    Writer.readAgain_withSeparator_eq_iff h.isSound hf table sep sep'⟩

/-- Without entities for line endings the same document is read, whatever the separator is. -/
theorem parse_separators_eq (h : doc.IsReadFrom subsets x) (hf : settings.formatted = false)
    (hh : settings.heading = none)
    (hl : Charset.forWriting? settings.encodingLabel = some settings.charset) {sep sep' : Text}
    (hsep : sep ∈ Text.lineEndings) (hsep' : sep' ∈ Text.lineEndings) (profile : Profile)
    (F : Forest) {table : EntityTable}
    (ht : (Writer.quiet settings profile).entityTable doc.doctype? = .ok table)
    (hr : table.lookup? '\r' = none) (hn : table.lookup? '\n' = none)
    (hd : ((Writer.quiet { settings with separator := sep } profile).documentText
      (F.plant doc).1 (F.plant doc).2).2 = .ok s)
    (hd' : ((Writer.quiet { settings with separator := sep' } profile).documentText
      (F.plant doc).1 (F.plant doc).2).2 = .ok s') :
    parse subsets s = parse subsets s' := by
  have hread : ∀ {sep s}, sep ∈ Text.lineEndings →
      ((Writer.quiet { settings with separator := sep } profile).documentText
        (F.plant doc).1 (F.plant doc).2).2 = .ok s →
      parse subsets s = .ok (((Writer.quiet settings profile).withSeparator ['\n']).readAgain
        (settings.escaper table) doc) := by
    intro sep s hsep hd
    obtain ⟨table', ht', hparse⟩ := exists_parse_separator h hf hh hl hsep profile F hd
    obtain rfl : table = table' := Except.ok.inj (ht.symm.trans ht')
    rwa [EntityTable.lineAgain_eq hr hn] at hparse
  rw [hread hsep hd, hread hsep' hd']

/-! ### An entity for the line feed -/

/-- A text with an entity for the line feed. -/
def feedText : Text :=
  "<!DOCTYPE a [<!ENTITY nl \"&#10;\">]><a>x\ny</a>".toList

/-- The document type of this text. -/
def feedDoctype : Doctype :=
  ⟨['a'], none, none, some "<!ENTITY nl \"&#10;\">".toList, [⟨"nl".toList, .internal ['\n']⟩]⟩

/-- The document that is read if character data has been read as `data`. -/
def feedDocument (declaration : Declaration) (data : Text) : Document :=
  ⟨declaration, [.doctype feedDoctype, .element ⟨none, none, ['a']⟩ [] [.text data]]⟩

/-- The text that is written, with a separator and with what the line ending in it becomes. -/
def feedTextWith (separator written : String) : Text :=
  ("<?xml version=\"1.0\" encoding=\"UTF-8\"?>" ++ separator ++
    "<!DOCTYPE a [<!ENTITY nl \"&#10;\">]>" ++ separator ++
      "<a>x" ++ written ++ "y</a>" ++ separator).toList

/-- What the declaration says that is written. -/
def feedDeclaration : Declaration :=
  ⟨some "1.0".toList, some "UTF-8".toList, none⟩

theorem isReadFrom_feedText : (feedDocument .none "x\ny".toList).IsReadFrom .none feedText := by
  refine ⟨by with_unfolding_all rfl, by decide +kernel, ?_⟩
  refine ⟨by simp [feedDocument, Declaration.none], ?_, ?_⟩
  · rintro d ⟨⟩
    decide +kernel
  · simp [feedDocument, Item.Everywhere, Item.EverywhereAt, Item.HasNoNull]

theorem documentText_feedDocument :
    ((Writer.quiet { Settings.standard with separator := ['\n'] } .everyBlock).documentText
        (Forest.empty.plant (feedDocument .none "x\ny".toList)).1
        (Forest.empty.plant (feedDocument .none "x\ny".toList)).2).2 =
      .ok (feedTextWith "\n" "&nl;") ∧
    ((Writer.quiet { Settings.standard with separator := ['\r', '\n'] } .everyBlock).documentText
        (Forest.empty.plant (feedDocument .none "x\ny".toList)).1
        (Forest.empty.plant (feedDocument .none "x\ny".toList)).2).2 =
      .ok (feedTextWith "\r\n" "\r&nl;") :=
  ⟨by with_unfolding_all rfl, by with_unfolding_all rfl⟩

theorem parse_separators_feedDocument :
    ∃ table again again', (Writer.quiet Settings.standard .everyBlock).entityTable
        (some feedDoctype) = .ok table ∧
      parse .none (feedTextWith "\n" "&nl;") = .ok again ∧
      parse .none (feedTextWith "\r\n" "\r&nl;") = .ok again' ∧
      (again = again' ↔ table.lineAgain ['\n'] = table.lineAgain ['\r', '\n'] ∨
        Item.Everywhere Item.HasNoLineEnding (feedDocument .none "x\ny".toList).content) :=
  @parse_separators_eq_iff .none feedText _ _ _ Settings.standard isReadFrom_feedText rfl rfl
    (by with_unfolding_all rfl) _ _ (by decide) (by decide) .everyBlock Forest.empty
    documentText_feedDocument.1 documentText_feedDocument.2

/-- A document that is read as two different ones if it is written with two separators. -/
theorem parse_separators_ne_feedDocument :
    (feedDocument .none "x\ny".toList).IsReadFrom .none feedText ∧
      Settings.standard.formatted = false ∧ Settings.standard.heading = none ∧
      ((Writer.quiet { Settings.standard with separator := ['\n'] } .everyBlock).documentText
          (Forest.empty.plant (feedDocument .none "x\ny".toList)).1
          (Forest.empty.plant (feedDocument .none "x\ny".toList)).2).2 =
        .ok (feedTextWith "\n" "&nl;") ∧
      ((Writer.quiet { Settings.standard with separator := ['\r', '\n'] } .everyBlock).documentText
          (Forest.empty.plant (feedDocument .none "x\ny".toList)).1
          (Forest.empty.plant (feedDocument .none "x\ny".toList)).2).2 =
        .ok (feedTextWith "\r\n" "\r&nl;") ∧
      parse .none (feedTextWith "\n" "&nl;") = .ok (feedDocument feedDeclaration "x\ny".toList) ∧
      parse .none (feedTextWith "\r\n" "\r&nl;") =
        .ok (feedDocument feedDeclaration "x\n\ny".toList) ∧
      feedDocument feedDeclaration "x\ny".toList ≠ feedDocument feedDeclaration "x\n\ny".toList :=
  ⟨isReadFrom_feedText, rfl, rfl, documentText_feedDocument.1, documentText_feedDocument.2,
    by with_unfolding_all rfl, by with_unfolding_all rfl, by simp [feedDocument]⟩

end Document

end XmlScribe
