/-
**Runs of white space.**

Formatting replaces every maximal run of space characters by a single space and may drop the run
at either edge of the text.

Main definitions:

* `Trim` — which edges of the text lose their run;
* `Text.collapse` — the replacement, character by character;
* `Text.needsCollapse` — whether it changes anything;
* `Text.collapseRuns` — the replacement with a shortcut for texts that need no change.
-/

import XmlScribe.Text.Basic

set_option autoImplicit false

namespace XmlScribe

/-- Which edges of a text lose their run of spaces. -/
structure Trim where
  /-- A run at the start is removed. -/
  atStart : Bool
  /-- A run at the end is removed. -/
  atEnd : Bool
deriving DecidableEq, Repr

namespace Text

/-- The loop of `collapse`.  `written` says whether a character has been written already, `inRun`
whether the characters just read belong to a run that is still open. -/
def collapseFrom (isRun : Char → Bool) (fill : Char) (trim : Trim) :
    (written inRun : Bool) → Text → Text
  | written, inRun, [] =>
      if inRun && !trim.atEnd && !(trim.atStart && !written) then [fill] else []
  | written, inRun, c :: s =>
      if isRun c then collapseFrom isRun fill trim written true s
      else if inRun && !(trim.atStart && !written) then
        fill :: c :: collapseFrom isRun fill trim true false s
      else c :: collapseFrom isRun fill trim true false s

/-- The text with every run replaced by one `fill`, or removed at a trimmed edge. -/
def collapse (isRun : Char → Bool) (fill : Char) (trim : Trim) (s : Text) : Text :=
  collapseFrom isRun fill trim false false s

/-- Two run characters in a row, or a run character other than `fill`. -/
def hasLongRun (isRun : Char → Bool) (fill : Char) : (inRun : Bool) → Text → Bool
  | _, [] => false
  | inRun, c :: s =>
      (isRun c && (inRun || c != fill)) || hasLongRun isRun fill (isRun c) s

/-- Whether collapsing changes the text. -/
def needsCollapse (isRun : Char → Bool) (fill : Char) (trim : Trim) (s : Text) : Bool :=
  (trim.atStart && s.head?.any isRun) || (trim.atEnd && s.getLast?.any isRun)
    || hasLongRun isRun fill false s

/-- The text with every run replaced by one `fill`, or removed at a trimmed edge.  A text that
needs no change is left alone. -/
def collapseRuns (isRun : Char → Bool) (fill : Char) (trim : Trim) (s : Text) : Text :=
  if needsCollapse isRun fill trim s then collapse isRun fill trim s else s

end Text

end XmlScribe
