/-
**Attributes.**

An attribute has a name and a value.  The attributes `xmlns` and `xmlns:p` declare namespaces; they
lie in a namespace of their own.

Main definitions:

* `Attribute` — a name and a value;
* `Attribute.declaredPrefix?` — the prefix that a namespace declaration declares;
* `Attribute.isDeclarationName` — the names of namespace declarations;
* `Attribute.put` — a list in which one item is changed, or added at the end.

Main results:

* `Attribute.length_put` — putting adds an item only if there was none to change.
-/

import XmlScribe.Name.Qualified

set_option autoImplicit false

namespace XmlScribe

/-- An attribute of an element. -/
structure Attribute where
  /-- The name of the attribute. -/
  name : QName
  /-- The value, in which all references have been replaced. -/
  value : Text
deriving DecidableEq, Repr

namespace Attribute

/-- The attribute declares a namespace. -/
def isDeclaration (a : Attribute) : Bool :=
  a.name.namespaceUri == some xmlnsUri

/-- The prefix that a namespace declaration declares; the prefix is missing in a declaration of
the default namespace. -/
def declaredPrefix? (a : Attribute) : Option (Option Text) :=
  if a.isDeclaration then
    if a.name.nsPrefix = some xmlnsPrefix then some (some a.name.localName) else some none
  else none

/-- The prefix that the name of a namespace declaration declares. -/
def prefixOfDeclarationName? (name : Text) : Option (Option Text) :=
  if name = xmlnsPrefix then some none
  else (Text.after? (xmlnsPrefix ++ [':']) name).map some

/-- The name is `xmlns` or begins with `xmlns:`. -/
def isDeclarationName (name : Text) : Bool :=
  (prefixOfDeclarationName? name).isSome

/-- The attribute is written with this name. -/
def hasText (name : Text) (a : Attribute) : Bool :=
  a.name.text == name

/-- The attribute has this namespace and local name. -/
def hasExpandedName (uri : Option Text) (localName : Text) (a : Attribute) : Bool :=
  a.name.namespaceUri == uri && a.name.localName == localName

/-- The list with `change` applied to the first item that `same` holds of, or with `new` at the
end if there is none. -/
def put {α : Type} (same : α → Bool) (change : α → α) (new : α) : List α → List α
  | [] => [new]
  | a :: l => if same a then change a :: l else a :: put same change new l

theorem length_put {α : Type} (same : α → Bool) (change : α → α) (new : α) (l : List α) :
    (put same change new l).length = if l.any same then l.length else l.length + 1 := by
  induction l with
  | nil => rfl
  | cons a l ih =>
      cases h : same a with
      | true => simp [put, h]
      | false =>
          have hp : put same change new (a :: l) = a :: put same change new l := by
            simp [put, h]
          rw [hp, List.length_cons, ih, List.any_cons, h, Bool.false_or, List.length_cons]
          split <;> rfl

/-- The attributes with `name` set to `value`, where attributes are told apart by namespace and
local name.  An attribute that is there keeps its name. -/
def setExpanded (name : QName) (value : Text) (attributes : List Attribute) : List Attribute :=
  put (hasExpandedName name.namespaceUri name.localName) ({ · with value := value }) ⟨name, value⟩
    attributes

/-- The attributes with `name`, a name outside all namespaces, set to `value`, where attributes
are told apart by the names that they are written with. -/
def setPlain (name value : Text) (attributes : List Attribute) : List Attribute :=
  put (hasText name) ({ · with value := value }) ⟨QName.plain name, value⟩ attributes

end Attribute

end XmlScribe
