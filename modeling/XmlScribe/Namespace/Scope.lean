/-
**Namespace scopes.**

What a prefix means at an element is decided by the declarations on it and on the elements around
it.  A scope lists the names and attributes of these elements, the innermost first, so that all
questions about prefixes are questions about a list.

Main definitions:

* `Binding` — a prefix together with the namespace that it is to mean;
* `Frame`, `Scope` — the name and the attributes of an element, those of all elements around it;
* `Scope.declaration?` — the nearest declaration of a prefix;
* `Scope.declares` — whether the declarations bind a prefix as wanted;
* `Scope.undeclared` — the bindings that an element uses although nothing declares them;
* `Scope.lookupUri?` — the namespace of a prefix, where names of elements count as well.

Main results:

* `Scope.declares_implicit` — the prefixes `xml` and `xmlns` need no declaration;
* `Scope.mem_undeclared` — which bindings are undeclared.
-/

import XmlScribe.Document.Attribute

set_option autoImplicit false

namespace XmlScribe

/-- A prefix and the namespace it is to mean.  No prefix stands for the default namespace, and no
namespace for names outside all namespaces. -/
structure Binding where
  /-- The prefix. -/
  nsPrefix : Option Text
  /-- The namespace. -/
  uri : Option Text
deriving DecidableEq, Repr

namespace Binding

/-- The binding holds in every document. -/
def isImplicit (b : Binding) : Bool :=
  b.nsPrefix == some xmlPrefix || b.nsPrefix == some xmlnsPrefix

/-- The namespace as a declaration has it: empty if there is none. -/
def uriText (b : Binding) : Text :=
  b.uri.getD []

/-- The name of the attribute that declares the prefix. -/
def declarationName (b : Binding) : Text :=
  match b.nsPrefix with
  | some p => xmlnsPrefix ++ ':' :: p
  | none => xmlnsPrefix

end Binding

/-- The binding that a name relies on. -/
def QName.binding (name : QName) : Binding :=
  ⟨name.nsPrefix, name.namespaceUri⟩

/-- The binding that an attribute relies on.  Declarations rely on none, and neither do attributes
without a prefix, because the default namespace is not meant for them. -/
def Attribute.binding? (a : Attribute) : Option Binding :=
  if a.isDeclaration || a.name.nsPrefix.isNone then none else some a.name.binding

/-- The name and the attributes of an element. -/
structure Frame where
  /-- The name. -/
  name : QName
  /-- The attributes. -/
  attributes : List Attribute
deriving DecidableEq, Repr

namespace Frame

/-- The namespace that the element itself declares for a prefix; it is empty if the declaration
takes back another one. -/
def declaration? (f : Frame) (p : Option Text) : Option Text :=
  (f.attributes.find? fun a => a.declaredPrefix? == some p).map Attribute.value

/-- The bindings that the names of an element and of its attributes rely on. -/
def bindings (f : Frame) : List Binding :=
  f.name.binding :: f.attributes.filterMap Attribute.binding?

/-- What the element says about the namespace of a prefix, if it says anything: by its own name or
else by a declaration. -/
def answer? (f : Frame) (p : Option Text) : Option (Option Text) :=
  if f.name.namespaceUri.isSome && f.name.nsPrefix == p then some f.name.namespaceUri
  else (f.declaration? p).map fun uri => if uri.isEmpty then none else some uri

end Frame

/-- The names and the attributes of an element and of the elements around it, from the inside
out. -/
abbrev Scope := List Frame

namespace Scope

/-- The nearest declaration of a prefix. -/
def declaration? (s : Scope) (p : Option Text) : Option Text :=
  s.findSome? (·.declaration? p)

/-- The declarations bind the prefix as wanted.  If there is no declaration of the default
namespace, names without a prefix are outside all namespaces. -/
def declares (s : Scope) (b : Binding) : Bool :=
  if b.isImplicit then true
  else
    match s.declaration? b.nsPrefix with
    | some uri => uri == b.uriText
    | none => b.nsPrefix.isNone && b.uriText.isEmpty

/-- The bindings that the innermost element relies on although nothing declares them, each once. -/
def undeclared (s : Scope) : List Binding :=
  match s with
  | [] => []
  | f :: _ => (f.bindings.filter (!s.declares ·)).eraseDups

/-- The namespace of a prefix. -/
def lookupUri? (s : Scope) (p : Option Text) : Option Text :=
  if p = some xmlPrefix then some xmlUri
  else if p = some xmlnsPrefix then some xmlnsUri
  else (s.findSome? (·.answer? p)).join

/-- The prefixes `xml` and `xmlns` need no declaration. -/
theorem declares_implicit (s : Scope) {b : Binding} (h : b.isImplicit = true) :
    s.declares b = true := by
  simp [declares, h]

/-- A binding is undeclared exactly if the element relies on it and it is not declared. -/
theorem mem_undeclared {f : Frame} {s : Scope} {b : Binding} :
    b ∈ undeclared (f :: s) ↔ b ∈ f.bindings ∧ declares (f :: s) b = false := by
  simp [undeclared, List.mem_eraseDups]

end Scope

end XmlScribe
