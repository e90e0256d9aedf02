/-
**General entities.**

A document type declares entities: an internal one has a replacement text, an external one only
says where its text is kept.  Five entities are predefined in every document.

A document type that declares an entity with a single character as its text asks for that
character to be written as a reference to the entity.  The table of these characters is built once
for each document that is written.

Main definitions:

* `EntityDecl` — a declaration;
* `EntityDecl.singleChar?` — the character that an entity stands for, if it is a single one;
* `Entity.predefined` — the five predefined entities;
* `EntityTable` — characters and the entities that replace them;
* `EntityTable.build` — the table of a list of declarations;
* `EntityTable.lookup?` — the entity that replaces a character.
-/

import XmlScribe.Text.Basic

set_option autoImplicit false

namespace XmlScribe

/-- What a declaration says about an entity. -/
inductive EntityBody where
  /-- The replacement text. -/
  | internal (value : Text)
  /-- Where the replacement text is kept. -/
  | external (publicId : Option Text) (systemId : Text)
deriving DecidableEq, Repr

/-- The declaration of a general entity. -/
structure EntityDecl where
  /-- The name of the entity. -/
  name : Text
  /-- What the entity stands for. -/
  body : EntityBody
deriving DecidableEq, Repr

namespace EntityDecl

/-- The replacement text of an internal entity. -/
def value? (decl : EntityDecl) : Option Text :=
  match decl.body with
  | .internal value => some value
  | .external _ _ => none

/-- The public identifier of an external entity. -/
def publicId? (decl : EntityDecl) : Option Text :=
  match decl.body with
  | .internal _ => none
  | .external publicId _ => publicId

/-- The system identifier of an external entity. -/
def systemId? (decl : EntityDecl) : Option Text :=
  match decl.body with
  | .internal _ => none
  | .external _ systemId => some systemId

/-- The replacement text, if it is exactly one character. -/
def singleChar? (decl : EntityDecl) : Option Char :=
  match decl.value? with
  | some [c] => some c
  | _ => none

end EntityDecl

namespace Entity

/-- The entities that need no declaration. -/
def predefined : List (Text × Char) :=
  [("amp".toList, '&'), ("lt".toList, '<'), ("gt".toList, '>'), ("quot".toList, '"'),
   ("apos".toList, '\'')]

/-- The predefined entity that stands for a character. -/
def predefinedName? (c : Char) : Option Text :=
  (predefined.find? fun entry => entry.2 = c).map Prod.fst

/-- The character that a predefined entity stands for. -/
def predefinedChar? (name : Text) : Option Char :=
  predefined.lookup name

end Entity

/-! ### Characters that are written as entities -/

/-- A declaration gives a predefined entity another character. -/
structure EntityConflict where
  /-- The name of the entity. -/
  name : Text
  /-- The character that the entity stands for in every document. -/
  expected : Char
  /-- The character that is declared. -/
  declared : Char
deriving DecidableEq, Repr

/-- The characters that are always written as an entity. -/
structure EntityTable where
  /-- The declared entities by character. -/
  declared : List (Char × Text)
  /-- The predefined entities count too. -/
  predefinedToo : Bool
deriving DecidableEq, Repr

namespace EntityTable

/-- The table in which no character is replaced. -/
def empty : EntityTable := ⟨[], false⟩

/-- What one declaration adds to the characters known so far.  The first declaration for a
character counts.  An entity for a character that begins markup cannot be read back as text, so it
only counts under its predefined name. -/
def addDecl (known : List (Char × Text)) (decl : EntityDecl) :
    Except EntityConflict (List (Char × Text)) :=
  match decl.singleChar? with
  | none => .ok known
  | some c =>
      match (Entity.predefinedChar? decl.name).filter (· ≠ c) with
      | some expected => .error ⟨decl.name, expected, c⟩
      | none =>
          if (c = '<' ∨ c = '&') ∧ Entity.predefinedName? c ≠ some decl.name then .ok known
          else if (known.lookup c).isSome then .ok known
          else .ok (known ++ [(c, decl.name)])

/-- The table of a list of declarations. -/
def build (decls : List EntityDecl) (predefinedToo : Bool) : Except EntityConflict EntityTable :=
  (decls.foldlM addDecl []).map fun known => ⟨known, predefinedToo⟩

/-- The entity that replaces a character. -/
def lookup? (table : EntityTable) (c : Char) : Option Text :=
  (table.declared.lookup c).or (if table.predefinedToo then Entity.predefinedName? c else none)

/-- The number of declared entities that count. -/
def size (table : EntityTable) : Nat :=
  table.declared.length

end EntityTable

end XmlScribe
