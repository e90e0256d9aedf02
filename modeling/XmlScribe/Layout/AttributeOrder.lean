/-
**The order of attributes.**

Attributes are written in an order that does not depend on when they were added:

1. the declaration of the default namespace;
2. attributes without a prefix that the profile lists, in the order of the list;
3. other attributes without a prefix;
4. declarations of prefixes;
5. attributes with a prefix that the profile lists, in the order of the list;
6. other attributes with a prefix.

Within a class, prefixes and local names count without regard to capital letters; attributes that
still agree are told apart by the exact name and the namespace.

Main definitions:

* `AttributeKey` — all that the place of an attribute depends on;
* `AttributeKey.ofAttribute` — the key of an attribute;
* `Attribute.sorted` — the attributes in order.

Main results:

* `AttributeKey.compareTexts_eq_eq` — only equal texts agree in the order of texts;
* `Attribute.sorted_perm` — sorting loses no attribute and adds none.
-/

import XmlScribe.Document.Attribute
import XmlScribe.Layout.Profile
import XmlScribe.Text.Lowercase

set_option autoImplicit false

namespace XmlScribe

/-- All that the place of an attribute depends on, the most important first. -/
structure AttributeKey where
  /-- The class. -/
  group : Nat
  /-- The place in the list of the profile, in the classes that it orders. -/
  rank : Nat
  /-- The prefix in small letters. -/
  nsPrefix : Text
  /-- The local name in small letters. -/
  localName : Text
  /-- The name as it is written. -/
  text : Text
  /-- The namespace. -/
  uri : Text
deriving DecidableEq, Repr

namespace AttributeKey

/-- The class of an attribute. -/
def groupOf (a : Attribute) (rank : Option Nat) : Nat :=
  match a.declaredPrefix?, rank.isSome, a.name.nsPrefix.isSome with
  | some none, _, _ => 0
  | none, true, false => 1
  | none, false, false => 2
  | some (some _), _, _ => 3
  | none, true, true => 4
  | none, false, true => 5

/-- The key of an attribute with its place in the list of the profile. -/
def ofAttribute (a : Attribute) (rank : Option Nat) : AttributeKey where
  group := groupOf a rank
  rank := if a.isDeclaration then 0 else rank.getD 0
  nsPrefix := (a.name.nsPrefix.map Text.lowercase).getD []
  localName := Text.lowercase a.name.localName
  text := a.name.text
  uri := a.name.namespaceUri.getD []

/-- The order of code points on texts, as that of the numbers of their characters. -/
def compareTexts : Text → Text → Ordering
  | [], [] => .eq
  | [], _ :: _ => .lt
  | _ :: _, [] => .gt
  | c :: s, d :: t => (compare c.toNat d.toNat).then (compareTexts s t)

/-- Only equal texts agree. -/
theorem compareTexts_eq_eq {s t : Text} : compareTexts s t = .eq ↔ s = t := by
  induction s generalizing t with
  | nil => cases t <;> simp [compareTexts]
  | cons c s ih =>
      cases t with
      | nil => simp [compareTexts]
      | cons d t =>
          have hcd : c.toNat = d.toNat ↔ c = d := by
            constructor
            · exact Char.ext ∘ UInt32.toNat_inj.1
            · exact congrArg Char.toNat
          rw [compareTexts, Ordering.then_eq_eq, Nat.compare_eq_eq, ih, hcd, List.cons.injEq]

/-- The order of two keys. -/
def order (k l : AttributeKey) : Ordering :=
  (compare k.group l.group).then <|
  (compare k.rank l.rank).then <|
  (compareTexts k.nsPrefix l.nsPrefix).then <|
  (compareTexts k.localName l.localName).then <|
  (compareTexts k.text l.text).then <|
  compareTexts k.uri l.uri

end AttributeKey

namespace Attribute

/-- The attribute `a` does not come after `b` on an element. -/
def precedes (profile : Profile) (key : ElementKey) (a b : Attribute) : Bool :=
  let keyOf (a : Attribute) := AttributeKey.ofAttribute a (profile.rank? key a.name.text)
  ((keyOf a).order (keyOf b)).isLE

/-- The attributes of an element in the order in which they are written. -/
def sorted (profile : Profile) (key : ElementKey) (attributes : List Attribute) :
    List Attribute :=
  attributes.mergeSort (precedes profile key)

/-- Sorting loses no attribute and adds none. -/
theorem sorted_perm (profile : Profile) (key : ElementKey) (attributes : List Attribute) :
    (sorted profile key attributes).Perm attributes :=
  List.mergeSort_perm attributes _

end Attribute

end XmlScribe
