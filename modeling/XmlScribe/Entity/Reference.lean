/-
**Reading references.**

In content and in values, `&` begins a reference to an entity or to a character, which ends with a
semicolon.  References are replaced once; the replacement text is not looked at again.

Main definitions:

* `CharRefFault`, `ReferenceFault` — what can be wrong with a reference;
* `Reference.charOf` — the character of a character reference;
* `Reference.expand` — a text with its references replaced.
-/

import XmlScribe.Entity.Basic
import XmlScribe.Text.Numeral

set_option autoImplicit false

namespace XmlScribe

/-- Why a character reference denotes no character. -/
inductive CharRefFault where
  /-- A sign stands in front of the number. -/
  | sign
  /-- The number cannot be read. -/
  | number (fault : Numeral.Fault)
  /-- The number is 0. -/
  | null
  /-- No character has the number. -/
  | notACharacter (code : Nat)
deriving DecidableEq, Repr

/-- The wording of the fault. -/
def CharRefFault.message : CharRefFault → String
  | .sign => "unexpected number sign"
  | .number fault => fault.message
  | .null => "0x0 character is not permitted in XML"
  | .notACharacter code => "`" ++ toString code ++ "` is not a valid codepoint"

/-- Why a reference cannot be replaced.  Places are counted in UTF-8 bytes from the start of the
text. -/
inductive ReferenceFault where
  /-- There is no semicolon before the next reference or the end. -/
  | unterminated (start stop : Nat)
  /-- No entity has this name. -/
  | unknownEntity (start stop : Nat) (name : Text)
  /-- The character reference denotes no character. -/
  | character (fault : CharRefFault)
deriving DecidableEq, Repr

/-- A range of bytes. -/
def ReferenceFault.range (start stop : Nat) : String :=
  toString start ++ ".." ++ toString stop

/-- The wording of the fault. -/
def ReferenceFault.message : ReferenceFault → String
  | .unterminated start stop =>
      "Error while escaping character at range " ++ range start stop
        ++ ": Cannot find ';' after '&'"
  | .unknownEntity start stop name =>
      "at " ++ range start stop ++ ": unrecognized entity `" ++ String.ofList name ++ "`"
  | .character fault => "invalid character reference: " ++ fault.message

namespace Reference

/-- The number of a character reference, which must have no sign. -/
def readNumber (radix : Nat) (digits : Text) : Except CharRefFault Nat :=
  if digits.head? = some '+' ∨ digits.head? = some '-' then .error .sign
  else (Numeral.read radix digits).mapError .number

/-- The character that the text between `&#` and `;` denotes. -/
def charOf (digits : Text) : Except CharRefFault Char :=
  let code :=
    match digits with
    | 'x' :: hex => readNumber 16 hex
    | decimal => readNumber 10 decimal
  match code with
  | .error fault => .error fault
  | .ok 0 => .error .null
  | .ok n =>
      match Text.charOfCode? n with
      | some c => .ok c
      | none => .error (.notACharacter n)

/-- What the text between `&` and `;` stands for; `start` is the place of the text. -/
def resolve (lookup : Text → Option Text) (start : Nat) (name : Text) :
    Except ReferenceFault Text :=
  match name with
  | '#' :: digits => ((charOf digits).map fun c => [c]).mapError .character
  | name =>
      match ((Entity.predefinedChar? name).map fun c => [c]).or (lookup name) with
      | some value => .ok value
      | none => .error (.unknownEntity start (start + Text.utf8Size name) name)

/-- The loop of `expand`.  `place` is the place of the next character, `total` the length of the
whole text, and `opened` the part of a reference read so far, backwards, with its place. -/
def expandFrom (lookup : Text → Option Text) (total : Nat) :
    (place : Nat) → (opened : Option (Nat × Text)) → Text → Except ReferenceFault Text
  | _, none, [] => .ok []
  | _, some (start, _), [] => .error (.unterminated start total)
  | place, none, c :: s =>
      if c = '&' then expandFrom lookup total (place + 1) (some (place, [])) s
      else (expandFrom lookup total (place + c.utf8Size) none s).map (c :: ·)
  | place, some (start, name), c :: s =>
      if c = ';' then
        match resolve lookup (start + 1) name.reverse with
        | .error fault => .error fault
        | .ok value => (expandFrom lookup total (place + 1) none s).map (value ++ ·)
      else if c = '&' then .error (.unterminated start total)
      else expandFrom lookup total (place + c.utf8Size) (some (start, c :: name)) s

/-- The text with every reference replaced, where `lookup` knows the declared entities. -/
def expand (lookup : Text → Option Text) (s : Text) : Except ReferenceFault Text :=
  expandFrom lookup (Text.utf8Size s) 0 none s

end Reference

end XmlScribe
