/-
**Writing elements.**

The content of an element is either written as it is or laid out on lines.  When it is laid out,
runs of spaces are collapsed, each block stands on lines of its own, and the lines are indented by
the depth of the element.

The functions for the content of an element take the writer of the elements in it as an argument,
so that the recursion itself stands in `Writer.putElement` alone.

Main definitions:

* `Writer.putVerbatim` — the content as it is;
* `LineState` — what the layout remembers from one part of the content to the next;
* `Writer.putFormatted` — the content laid out on lines;
* `Writer.putElement` — an element with all that is below it.
-/

import XmlScribe.Writer.Markup

set_option autoImplicit false

namespace XmlScribe

/-- A walk that writes an element at a depth, laid out on lines or not. -/
abbrev ElementWriter := NodeId → (depth : Nat) → (formatting : Bool) → Walk Unit

namespace Writer

open Walk

/-- Writes a node that is no element, or hands it to the writer of elements. -/
def putNode (W : Writer) (escaper : Escaper) (putElement : ElementWriter) (id : NodeId)
    (depth : Nat) (formatting : Bool) : Walk Unit := do
  match (← forest).payload? id with
  | some (.element _ _) => putElement id depth formatting
  | some payload => W.putLeaf escaper payload
  | none => pure ()

/-! ### Content as it is -/

/-- Writes parts of the content of an element as they are. -/
def putVerbatimParts (W : Writer) (escaper : Escaper) (putElement : ElementWriter)
    (parent : NodeId) (expected : Nat) : List Content → Walk Unit
  | [] => checkChildren parent expected
  | part :: parts => do
      checkChildren parent expected
      match part with
      | .text data => W.putText escaper data
      | .node id => W.putNode escaper putElement id 0 false
      W.putVerbatimParts escaper putElement parent expected parts

/-- Writes the content of an element as it is. -/
def putVerbatim (W : Writer) (escaper : Escaper) (putElement : ElementWriter)
    (parent : NodeId) : Walk Unit := do
  let F ← forest
  W.putVerbatimParts escaper putElement parent (F.children parent).length (F.content parent)

end Writer

/-! ### Content on lines -/

/-- What the layout remembers from one part of the content to the next. -/
structure LineState where
  /-- A line has just ended. -/
  atLineStart : Bool
  /-- The content of the last element that a line ended after is not indented. -/
  afterFlush : Bool
  /-- There was a block. -/
  hadBlock : Bool
deriving DecidableEq, Repr

namespace LineState

/-- Nothing has been written yet. -/
def start : LineState := ⟨false, false, false⟩

/-- Something other than a line end has been written. -/
def inLine (st : LineState) : LineState :=
  { st with atLineStart := false }

/-- A block with these traits has been written, or an element that a line ends after. -/
def afterLine (st : LineState) (traits : Traits) : LineState :=
  ⟨true, traits.flush, st.hadBlock || traits.block⟩

end LineState

namespace Writer

open Walk

/-- The traits of an element. -/
def traitsOf (W : Writer) (id : NodeId) : Walk Traits := do
  match (← forest).elementName? id with
  | some name => ask W.profile (keyOf name)
  | none => pure Traits.none

/-- What a part of the content is to the text beside it. -/
def neighbour (W : Writer) (part : Option Content) : Walk Neighbour := do
  match part with
  | none => pure .edge
  | some (.text _) => pure .other
  | some (.node id) =>
      if (← forest).isElement id then
        let traits ← W.traitsOf id
        pure (.element traits.block traits.lineBreak)
      else pure .other

/-- What the part before a text is to it.  Whether a line ends after an element is asked apart, once
it is known that the element is no block. -/
def neighbourBefore (W : Writer) (part : Option Content) : Walk Neighbour := do
  match ← W.neighbour part with
  | .element false _ => W.neighbour part
  | neighbour => pure neighbour

/-- Writes the indentation of a depth at the start of a line. -/
def putIndentAtStart (W : Writer) (st : LineState) (depth : Nat) : Walk Unit :=
  if st.atLineStart then W.putIndent depth else pure ()

/-- Lays out a text between two parts of the content. -/
def putFormattedText (W : Writer) (escaper : Escaper) (parentIsBlock : Bool) (depth : Nat)
    (before after : Option Content) (data : Text) (st : LineState) : Walk LineState := do
  let trim := Trim.between parentIsBlock (← W.neighbourBefore before) (← W.neighbour after)
  let collapsed := Text.collapseRuns W.profile.isSpace ' ' trim data
  if collapsed.isEmpty then return st
  W.putIndentAtStart st depth
  W.putText escaper collapsed
  return st.inLine

/-- Lays out an element. -/
def putFormattedElement (W : Writer) (putElement : ElementWriter) (depth : Nat) (id : NodeId)
    (st : LineState) : Walk LineState := do
  let traits ← W.traitsOf id
  if traits.block then
    if !st.atLineStart then W.putNewline
    W.putIndent depth
    putElement id depth true
    W.putNewline
    return st.afterLine traits
  else
    W.putIndentAtStart st depth
    putElement id depth true
    if traits.lineBreak then
      W.putNewline
      return st.afterLine traits
    else return st.inLine

/-- Lays out a part of the content between two others. -/
def putFormattedPart (W : Writer) (escaper : Escaper) (putElement : ElementWriter)
    (parentIsBlock : Bool) (depth : Nat) (before after : Option Content) (part : Content)
    (st : LineState) : Walk LineState := do
  match part with
  | .text data => W.putFormattedText escaper parentIsBlock depth before after data st
  | .node id =>
      if (← forest).isElement id then W.putFormattedElement putElement depth id st
      else
        W.putIndentAtStart st depth
        W.putNode escaper putElement id depth true
        return st.inLine

/-- The depth of the content of an element. -/
def contentDepth (depth : Nat) (traits : Traits) (st : LineState) : Nat :=
  if traits.flush || st.afterFlush then depth else depth + 1

/-- Lays out parts of the content of an element, after the part `before`. -/
def putFormattedParts (W : Writer) (escaper : Escaper) (putElement : ElementWriter)
    (parent : NodeId) (expected depth : Nat) (traits : Traits) :
    (before : Option Content) → LineState → List Content → Walk LineState
  | _, st, [] => do
      checkChildren parent expected
      return st
  | before, st, part :: parts => do
      checkChildren parent expected
      let st ← W.putFormattedPart escaper putElement traits.block (contentDepth depth traits st)
        before parts.head? part st
      W.putFormattedParts escaper putElement parent expected depth traits (some part) st parts

/-- Lays out the content of an element with these traits on lines. -/
def putFormatted (W : Writer) (escaper : Escaper) (putElement : ElementWriter)
    (parent : NodeId) (depth : Nat) (traits : Traits) : Walk Unit := do
  let F ← forest
  let st ← W.putFormattedParts escaper putElement parent (F.children parent).length depth traits
    none .start (F.content parent)
  if st.atLineStart then W.putIndent depth
  else if st.hadBlock && W.settings.endTagOnLine then
    W.putNewline
    W.putIndent depth

/-! ### Elements -/

/-- Writes the end of an element that has no children. -/
def putEmptyEnd (W : Writer) (name : Text) : Walk Unit :=
  if W.settings.emptyTags then putString "/>"
  else do
    putString "></"
    put name
    putString ">"

/-- Writes the content of an element and its end tag. -/
def putContent (W : Writer) (escaper : Escaper) (putElement : ElementWriter) (id : NodeId)
    (name : Text) (depth : Nat) (formatting : Bool) : Walk Unit := do
  putString ">"
  let traits ← W.traitsOf id
  if formatting && !traits.preserved then W.putFormatted escaper putElement id depth traits
  else W.putVerbatim escaper putElement id
  putString "</"
  put name
  putString ">"

/-- Writes an element with `fuel` levels of elements at most. -/
def putElementFrom (W : Writer) (escaper : Escaper) : (fuel : Nat) → ElementWriter
  | 0, _, _, _ => pure ()
  | fuel + 1, id, depth, formatting => do
      let F ← forest
      match F.frame? id with
      | none => pure ()
      | some f =>
          W.putStartTag escaper f
          if (F.children id).isEmpty then W.putEmptyEnd f.name.text
          else
            W.putContent escaper (W.putElementFrom escaper fuel) id f.name.text depth formatting

/-- Writes an element with all that is below it.  There are no more levels than nodes, counting one
that may be added on the way. -/
def putElement (W : Writer) (escaper : Escaper) : ElementWriter := fun id depth formatting => do
  W.putElementFrom escaper ((← forest).size + 1) id depth formatting

end Writer

end XmlScribe
