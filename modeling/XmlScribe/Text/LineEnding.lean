/-
**Line endings.**

A line ends with a carriage return followed by a line feed, with a lone carriage return, or with a
lone line feed.  When a document is written, all of them become one chosen separator; when it is
read, all of them become a line feed.

Main definitions:

* `Text.endLinesWith` — every line ending becomes the separator;
* `Text.withLineEndings` — the same with a shortcut for texts that need no change;
* `Text.unifyLineEndings` — every line ending becomes a line feed, in two passes.
-/

import XmlScribe.Text.Basic

set_option autoImplicit false

namespace XmlScribe

namespace Text

/-- The text with every line ending replaced by `sep`. -/
def endLinesWith (sep : Text) : Text → Text
  | [] => []
  | '\r' :: '\n' :: s => sep ++ endLinesWith sep s
  | '\r' :: s => sep ++ endLinesWith sep s
  | '\n' :: s => sep ++ endLinesWith sep s
  | c :: s => c :: endLinesWith sep s

/-- The text with every line ending replaced by `sep`.  A text whose line endings are those asked
for already is left alone. -/
def withLineEndings (sep s : Text) : Text :=
  if !s.elem '\r' && (sep == ['\n'] || !s.elem '\n') then s else endLinesWith sep s

/-- A carriage return followed by a line feed becomes a line feed. -/
def joinReturns : Text → Text
  | [] => []
  | '\r' :: '\n' :: s => '\n' :: joinReturns s
  | c :: s => c :: joinReturns s

/-- End-of-line handling on reading: pairs first, then the carriage returns that are left. -/
def unifyLineEndings (s : Text) : Text :=
  if s.elem '\r' then (joinReturns s).map fun c => if c = '\r' then '\n' else c else s

end Text

end XmlScribe
