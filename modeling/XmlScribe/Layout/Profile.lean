/-
**Layout profiles.**

A profile says how elements are laid out, by their names: which stand on lines of their own, after
which a new line begins, whose content is not indented further, whose content is left as it is, and
in which order attributes are preferred.

Main definitions:

* `ElementKey` — the namespace and the local name of an element;
* `Profile` — the answers for all elements;
* `Profile.everyBlock` — the profile in which every element stands on lines of its own;
* `ProfileTable` — a profile as a table;
* `ProfileTable.profile` — the answers that the table gives.
-/

import XmlScribe.Text.Basic

set_option autoImplicit false

namespace XmlScribe

/-- What a profile knows of an element: its namespace and its local name. -/
structure ElementKey where
  /-- The namespace. -/
  namespaceUri : Option Text
  /-- The local name. -/
  localName : Text
deriving DecidableEq, Repr

/-- How elements are laid out. -/
structure Profile where
  /-- The element begins on a line of its own, and another line follows it. -/
  isBlock : ElementKey → Bool
  /-- Another line follows the element. -/
  isBreak : ElementKey → Bool
  /-- The content of the element is not indented further than the element. -/
  isFlush : ElementKey → Bool
  /-- The content of the element is written as it is. -/
  isPreserved : ElementKey → Bool
  /-- The place of an attribute in the preferred order, if the order lists it. -/
  rank? : ElementKey → (name : Text) → Option Nat
  /-- The character counts as a space. -/
  isSpace : Char → Bool

namespace Profile

/-- The profile in which every element stands on lines of its own. -/
def everyBlock : Profile where
  isBlock _ := true
  isBreak _ := false
  isFlush _ := false
  isPreserved _ := false
  rank? _ _ := none
  isSpace := Text.isBlank

end Profile

/-- The traits of an element in a table. -/
structure Traits where
  /-- It stands on lines of its own. -/
  block : Bool
  /-- A line ends after it. -/
  lineBreak : Bool
  /-- Its content is not indented further. -/
  flush : Bool
  /-- Its content is left as it is. -/
  preserved : Bool
deriving DecidableEq, Repr

namespace Traits

/-- No trait. -/
def none : Traits := ⟨false, false, false, false⟩

/-- The trait of a block. -/
def ofBlock : Traits := { none with block := true }

/-- The trait of an element that a line ends after. -/
def ofBreak : Traits := { none with lineBreak := true }

/-- The trait of an element whose content is not indented further. -/
def ofFlush : Traits := { none with flush := true }

/-- The trait of an element whose content is left as it is. -/
def ofPreserved : Traits := { none with preserved := true }

/-- The traits of both. -/
def merge (s t : Traits) : Traits :=
  ⟨s.block || t.block, s.lineBreak || t.lineBreak, s.flush || t.flush,
    s.preserved || t.preserved⟩

end Traits

/-- A profile as a table.  An element has all traits that are listed for it. -/
structure ProfileTable where
  /-- The traits of elements. -/
  traits : List (ElementKey × Traits)
  /-- The preferred orders of attributes; of two orders for an element the later one counts. -/
  orders : List (ElementKey × List Text)
  /-- An element that the table does not list is a block. -/
  blockByDefault : Bool
deriving DecidableEq, Repr

namespace ProfileTable

/-- The table that lists no element. -/
def empty : ProfileTable := ⟨[], [], false⟩

/-- The table with a trait more for some elements of a namespace. -/
def withTraits (table : ProfileTable) (traits : Traits) (uri : Option Text)
    (names : List Text) : ProfileTable :=
  { table with traits := table.traits ++ names.map fun name => (⟨uri, name⟩, traits) }

/-- The table with a preferred order of attributes. -/
def withOrder (table : ProfileTable) (uri : Option Text) (name : Text)
    (attributes : List Text) : ProfileTable :=
  { table with orders := (⟨uri, name⟩, attributes) :: table.orders }

/-- The traits that are listed for an element, if it is listed at all. -/
def lookup? (table : ProfileTable) (key : ElementKey) : Option Traits :=
  match table.traits.filter (·.1 == key) with
  | [] => none
  | listed => some (listed.foldl (fun t entry => t.merge entry.2) Traits.none)

/-- The traits of an element. -/
def traitsOf (table : ProfileTable) (key : ElementKey) : Traits :=
  (table.lookup? key).getD { Traits.none with block := table.blockByDefault }

/-- The answers that the table gives. -/
def profile (table : ProfileTable) : Profile where
  isBlock key := (table.traitsOf key).block
  isBreak key := (table.traitsOf key).lineBreak
  isFlush key := (table.traitsOf key).flush
  isPreserved key := (table.traitsOf key).preserved
  rank? key name := (table.orders.lookup key).bind (·.idxOf? name)
  isSpace := Text.isBlank

end ProfileTable

end XmlScribe
