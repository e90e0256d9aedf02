/-
**Escaping text.**

A character that could be taken for markup, that would not survive reading, or that the character
set lacks is written as a reference; other classes of characters can be escaped on request.

Each character is looked at in this order: a character of the entity table is written as its
entity; a character that has to be escaped, or is to be, is written as its predefined entity or as
a hexadecimal character reference; any other is written as it is.

Main definitions:

* `PredefinedUse` — when predefined entities are used;
* `Escaper` — all that escaping depends on;
* `Escaper.isRequired`, `Escaper.isRequested` — the two reasons for an escape;
* `Escaper.encodeChar`, `Escaper.encode` — a character, a text;
* `Entity.chooseQuote` — the quotation mark for a value.
-/

import XmlScribe.Entity.Basic
import XmlScribe.Text.Basic

set_option autoImplicit false

namespace XmlScribe

/-- When the predefined entities are used. -/
inductive PredefinedUse where
  /-- For every occurrence of their characters. -/
  | always
  /-- For an occurrence that has to be escaped. -/
  | asNeeded
  /-- Not at all; character references take their place. -/
  | never
deriving DecidableEq, Repr

/-- All that the escape of a character depends on. -/
structure Escaper where
  /-- The characters that are always written as an entity. -/
  table : EntityTable
  /-- When predefined entities are used. -/
  predefined : PredefinedUse
  /-- Control characters are escaped. -/
  control : Bool
  /-- Characters outside ASCII are escaped. -/
  nonAscii : Bool
  /-- Private use characters are escaped. -/
  privateUse : Bool
  /-- The characters that the character set has. -/
  canEncode : Char → Bool

namespace Escaper

/-- The character must be escaped for the text to be read back: in a value that `quote` surrounds,
or in content if there is no quote. -/
def isRequired (e : Escaper) (quote : Option Char) (c : Char) : Bool :=
  if c == '<' || c == '&' then true
  else if c == '>' then quote.isNone
  else if c == '\t' || c == '\n' || c == '\r' then quote.isSome
  else if some c == quote then true
  else !e.canEncode c

/-- A control character other than the white space of XML. -/
def isControl (c : Char) : Bool :=
  (c.toNat < 0x20 && !(c == '\t' || c == '\n' || c == '\r'))
    || (0x7F ≤ c.toNat && c.toNat ≤ 0x9F)

/-- The character is to be escaped although it need not be. -/
def isRequested (e : Escaper) (c : Char) : Bool :=
  (e.control && isControl c) || (e.nonAscii && 0x7F < c.toNat)
    || (e.privateUse && CharSet.privateUse.contains c)

/-- The reference to an entity. -/
def entityReference (name : Text) : Text :=
  '&' :: name ++ [';']

/-- The hexadecimal reference to a character. -/
def hexReference (c : Char) : Text :=
  ['&', '#', 'x'] ++ Text.hexadecimal c.toNat ++ [';']

/-- The reference to a character outside the entity table. -/
def charReference (e : Escaper) (c : Char) : Text :=
  match Entity.predefinedName? c with
  | some name => if e.predefined = .never then hexReference c else entityReference name
  | none => hexReference c

/-- How a character is written. -/
def encodeChar (e : Escaper) (quote : Option Char) (c : Char) : Text :=
  match e.table.lookup? c with
  | some name => entityReference name
  | none => if e.isRequired quote c || e.isRequested c then e.charReference c else [c]

/-- How a text is written. -/
def encode (e : Escaper) (quote : Option Char) (s : Text) : Text :=
  s.flatMap (e.encodeChar quote)

end Escaper

/-- The quotation mark around a value: the double one, unless the value has one. -/
def Entity.chooseQuote (value : Text) : Char :=
  if value.elem '"' then '\'' else '"'

end XmlScribe
