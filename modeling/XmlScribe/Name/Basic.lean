/-
**Names.**

A name begins with a letter, an underscore or a colon and goes on with these, digits, hyphens,
points and some combining marks, as the production `Name` of XML 1.0 lays down.

Main definitions:

* `Name.IsName` — the production;
* `Name.isName` — its test;
* `Name.isPlainName` — a test that only looks at ASCII;
* `Name.isValid`, `Name.check` — the test in use, which tries ASCII first.
-/

import XmlScribe.Text.Basic
import XmlScribe.Tree.Fault

set_option autoImplicit false

namespace XmlScribe

namespace Name

/-- The characters that a name can begin with. -/
def startChars : CharSet :=
  [(0x3A, 0x3A), (0x5F, 0x5F), (0x41, 0x5A), (0x61, 0x7A), (0xC0, 0xD6), (0xD8, 0xF6),
   (0xF8, 0x2FF), (0x370, 0x37D), (0x37F, 0x1FFF), (0x200C, 0x200D), (0x2070, 0x218F),
   (0x2C00, 0x2FEF), (0x3001, 0xD7FF), (0xF900, 0xFDCF), (0xFDF0, 0xFFFD), (0x10000, 0xEFFFF)]

/-- The characters that a name can hold but not begin with. -/
def innerChars : CharSet :=
  [(0x2D, 0x2E), (0x30, 0x39), (0xB7, 0xB7), (0x300, 0x36F), (0x203F, 0x2040)]

/-- A name can begin with this character. -/
def isStartChar (c : Char) : Bool :=
  startChars.contains c

/-- A name can hold this character. -/
def isNameChar (c : Char) : Bool :=
  isStartChar c || innerChars.contains c

/-- The production `Name`: a start character and any number of name characters. -/
def IsName (s : Text) : Prop :=
  ∃ c rest, s = c :: rest ∧ isStartChar c = true ∧ ∀ d ∈ rest, isNameChar d = true

/-- The test for the production `Name`. -/
def isName : Text → Bool
  | [] => false
  | c :: rest => isStartChar c && rest.all isNameChar

theorem isName_iff {s : Text} : isName s = true ↔ IsName s := by
  cases s with
  | nil => simp [isName, IsName]
  | cons c rest =>
      simp only [isName, IsName, Bool.and_eq_true, List.all_eq_true, List.cons.injEq]
      constructor
      · exact fun h => ⟨c, rest, ⟨rfl, rfl⟩, h⟩
      · rintro ⟨_, _, ⟨rfl, rfl⟩, h⟩
        exact h

/-- A name all of whose characters are ASCII. -/
def isPlainName : Text → Bool
  | [] => false
  | c :: rest =>
      (c.isAlpha || c == '_' || c == ':')
        && rest.all fun d => d.isAlphanum || d == '_' || d == '-' || d == '.' || d == ':'

/-- The text is a name.  Most names are ASCII, so that is tried first. -/
def isValid (s : Text) : Bool :=
  isPlainName s || isName s

/-- Refuses a text that is no name. -/
def check (s : Text) : Except TreeFault Unit :=
  if isValid s then .ok () else .error .invalidCharacter

end Name

end XmlScribe
