/-
**What is written for an item.**

What a writer writes for the items of a document can be said without a walk through a forest: an
item becomes fragments.  As it is, content becomes one fragment after the other; on lines, there are
line ends and indentation between them and white space in character data is collapsed.

Main definitions:

* `Writer.spellAttributes`, `Writer.spellText` — how attributes and text are spelled;
* `Writer.place` — a part of the content between line ends and indentation;
* `Writer.fragmentsAt` — the fragments of an item;
* `Writer.verbatim`, `Writer.laidOut` — the fragments of content, as it is and on lines;
* `Writer.inside` — the fragments of the content of an element;
* `Writer.bodyFragments` — the fragments of a document after its prolog.
-/

import XmlScribe.Proofs.Writer.CData
import XmlScribe.Writer.Element

set_option autoImplicit false

namespace XmlScribe

namespace Writer

/-! ### Spelling -/

/-- An attribute with its spelling. -/
def spellAttribute (escaper : Escaper) (a : Attribute) : Attribute × WrittenAttribute :=
  let quote := Entity.chooseQuote a.value
  (a, ⟨a.name.text, quote, escaper.encode (some quote) a.value⟩)

/-- The attributes of an element in order, with their spellings. -/
def spellAttributes (W : Writer) (escaper : Escaper) (name : QName)
    (attributes : List Attribute) : List (Attribute × WrittenAttribute) :=
  (Attribute.sorted W.profile (keyOf name) attributes).map (spellAttribute escaper)

/-- Character data with its spelling. -/
def spellText (W : Writer) (escaper : Escaper) (data : Text) : Fragment :=
  let unified := Text.withLineEndings W.settings.separator data
  .chars (escaper.encode none unified) unified

/-- White space that is not spelled in any other way. -/
def blanks (s : Text) : Fragment :=
  .chars s s

/-! ### Lines -/

/-- The indentation of a depth. -/
def indentation (W : Writer) (depth : Nat) : Fragment :=
  blanks (List.replicate depth W.settings.indent).flatten

/-- The end of a line. -/
def lineEnd (W : Writer) : Fragment :=
  blanks W.settings.separator

/-- The traits of an element with a name. -/
def traits (W : Writer) (name : QName) : Traits :=
  let key := keyOf name
  ⟨W.profile.isBlock key, W.profile.isBreak key, W.profile.isFlush key, W.profile.isPreserved key⟩

/-- What an item, or the lack of one, is to the text beside it. -/
def neighbourOf (W : Writer) : Option Item → Neighbour
  | none => .edge
  | some (.element name _ _) => .element (W.traits name).block (W.traits name).lineBreak
  | some _ => .other

/-- The indentation of a depth at the start of a line. -/
def indentAtStart (W : Writer) (st : LineState) (depth : Nat) : List Fragment :=
  if st.atLineStart then [W.indentation depth] else []

/-- A text between two other parts of the content. -/
def placeText (W : Writer) (escaper : Escaper) (trim : Trim) (depth : Nat) (data : Text)
    (st : LineState) : List Fragment × LineState :=
  let collapsed := Text.collapseRuns W.profile.isSpace ' ' trim data
  if collapsed.isEmpty then ([], st)
  else (W.indentAtStart st depth ++ [W.spellText escaper collapsed], st.inLine)

/-- An element with the fragments `own` between line ends and indentation. -/
def placeElement (W : Writer) (traits : Traits) (depth : Nat) (own : List Fragment)
    (st : LineState) : List Fragment × LineState :=
  if traits.block then
    ((if st.atLineStart then [] else [W.lineEnd]) ++ W.indentation depth :: own ++ [W.lineEnd],
      st.afterLine traits)
  else if traits.lineBreak then
    (W.indentAtStart st depth ++ own ++ [W.lineEnd], st.afterLine traits)
  else (W.indentAtStart st depth ++ own, st.inLine)

/-- An item with the fragments `own` between line ends and indentation. -/
def place (W : Writer) (escaper : Escaper) (parentIsBlock : Bool) (depth : Nat)
    (before after : Neighbour) (item : Item) (own : List Fragment) (st : LineState) :
    List Fragment × LineState :=
  match item with
  | .text data => W.placeText escaper (Trim.between parentIsBlock before after) depth data st
  | .element name _ _ => W.placeElement (W.traits name) depth own st
  | _ => (W.indentAtStart st depth ++ own, st.inLine)

/-- The end of content on lines. -/
def lastLine (W : Writer) (depth : Nat) (st : LineState) : List Fragment :=
  if st.atLineStart then [W.indentation depth]
  else if st.hadBlock && W.settings.endTagOnLine then [W.lineEnd, W.indentation depth]
  else []

/-! ### Items -/

mutual

/-- The fragments of an item at a depth, laid out on lines or not. -/
def fragmentsAt (W : Writer) (escaper : Escaper) (depth : Nat) (formatting : Bool) :
    Item → List Fragment
  | .element name attributes content =>
      let inner :=
        if content.isEmpty then []
        else if formatting && !(W.traits name).preserved then
          let (fragments, st) := W.laidOut escaper depth (W.traits name) .edge .start content
          fragments ++ W.lastLine depth st
        else W.verbatim escaper content
      [.element name (W.spellAttributes escaper name attributes)
        (content.isEmpty && W.settings.emptyTags) inner]
  | .text data => [W.spellText escaper data]
  | .cdata data => CData.fragments W.settings.charset.canEncode data
  | .comment data => [.comment data]
  | .instruction target data => [.instruction target data]
  | .doctype _ => []

/-- The fragments of content as it is. -/
def verbatim (W : Writer) (escaper : Escaper) : List Item → List Fragment
  | [] => []
  | item :: items => W.fragmentsAt escaper 0 false item ++ W.verbatim escaper items

/-- The fragments of content on lines, after something that is `before` to it. -/
def laidOut (W : Writer) (escaper : Escaper) (depth : Nat) (traits : Traits) (before : Neighbour)
    (st : LineState) : List Item → List Fragment × LineState
  | [] => ([], st)
  | item :: items =>
      let inside := contentDepth depth traits st
      let (fragments, st) := W.place escaper traits.block inside before
        (W.neighbourOf items.head?) item (W.fragmentsAt escaper inside true item) st
      let (more, st) := W.laidOut escaper depth traits (W.neighbourOf (some item)) st items
      (fragments ++ more, st)

end

/-- The fragments of the content of an element. -/
def inside (W : Writer) (escaper : Escaper) (depth : Nat) (formatting : Bool) (name : QName)
    (content : List Item) : List Fragment :=
  if content.isEmpty then []
  else if formatting && !(W.traits name).preserved then
    (W.laidOut escaper depth (W.traits name) .edge .start content).1 ++
      W.lastLine depth (W.laidOut escaper depth (W.traits name) .edge .start content).2
  else W.verbatim escaper content

theorem fragmentsAt_element (W : Writer) (escaper : Escaper) (depth : Nat) (formatting : Bool)
    (name : QName) (attributes : List Attribute) (content : List Item) :
    W.fragmentsAt escaper depth formatting (.element name attributes content) =
      [.element name (W.spellAttributes escaper name attributes)
        (content.isEmpty && W.settings.emptyTags)
        (W.inside escaper depth formatting name content)] := by
  rw [fragmentsAt]
  rfl

/-! ### Outside all elements -/

/-- The fragments of an item outside all elements, where `afterRoot` tells whether it stands after
the document element. -/
def outsideAt (W : Writer) (escaper : Escaper) (afterRoot : Bool) (item : Item) : List Fragment :=
  match item with
  | .element _ _ _ => W.fragmentsAt escaper 0 W.settings.formatted item
  | .comment data =>
      if afterRoot then [W.lineEnd, .comment data] else [.comment data, W.lineEnd]
  | .instruction target data =>
      if afterRoot then [W.lineEnd, .instruction target data]
      else [.instruction target data, W.lineEnd]
  | _ => []

/-- The fragments of the items outside all elements. -/
def outside (W : Writer) (escaper : Escaper) : (afterRoot : Bool) → List Item → List Fragment
  | _, [] => []
  | afterRoot, item :: items =>
      W.outsideAt escaper afterRoot item ++ W.outside escaper (afterRoot || item.isElement) items

/-- The fragments of a document after its prolog. -/
def bodyFragments (W : Writer) (escaper : Escaper) (items : List Item) : List Fragment :=
  W.outside escaper false items ++
    if items.any Item.isElement && W.settings.endsWithLine then [W.lineEnd] else []

end Writer

end XmlScribe
