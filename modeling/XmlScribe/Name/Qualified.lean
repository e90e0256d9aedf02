/-
**Qualified names.**

A qualified name consists of a prefix, which may be missing, and a local name; the prefix stands
for a namespace.  The qualified text is the local name alone, or prefix, colon and local name.

Main definitions:

* `QName` — namespace, prefix and local name;
* `QName.text` — the name as it is written;
* `QName.splitAtColon?` — prefix and local part of a written name;
* `QName.ofText` — the name of a given namespace with a given text, if the two fit together;
* `QName.plain` — a name outside all namespaces, whatever colons it has.

Main results:

* `QName.text_ofText` — a name is written as the text that it was made from.
-/

import XmlScribe.Name.Basic

set_option autoImplicit false

namespace XmlScribe

/-- The name of an element or attribute. -/
structure QName where
  /-- The namespace; never the empty text. -/
  namespaceUri : Option Text
  /-- The part before the colon. -/
  nsPrefix : Option Text
  /-- The part after the colon, or the whole name. -/
  localName : Text
deriving DecidableEq, Repr

/-- The namespace that the prefix `xml` always stands for. -/
def xmlUri : Text := "http://www.w3.org/XML/1998/namespace".toList

/-- The namespace of the namespace declarations themselves. -/
def xmlnsUri : Text := "http://www.w3.org/2000/xmlns/".toList

/-- The prefix that is always bound to `xmlUri`. -/
def xmlPrefix : Text := ['x', 'm', 'l']

/-- The prefix of namespace declarations, and the name of the declaration of the default
namespace. -/
def xmlnsPrefix : Text := ['x', 'm', 'l', 'n', 's']

namespace QName

/-- The name as it is written. -/
def text (name : QName) : Text :=
  match name.nsPrefix with
  | some p => p ++ ':' :: name.localName
  | none => name.localName

/-- A name outside all namespaces and without a prefix. -/
def plain (name : Text) : QName :=
  ⟨none, none, name⟩

/-- The parts before and after the first colon.  A name that begins with a colon has no
prefix. -/
def splitAtColon? (name : Text) : Option (Text × Text) :=
  if name.head? = some ':' then none else Text.cutAt [':'] name

/-- A missing namespace may be given as the empty text. -/
def someNamespace (uri : Option Text) : Option Text :=
  uri.filter fun u => !u.isEmpty

/-- What the rules of namespaces forbid for a name with this prefix and text. -/
def isMismatch (uri pfx : Option Text) (name : Text) : Bool :=
  match pfx, uri with
  | some _, none => true
  | some p, some u =>
      (p == xmlPrefix && u != xmlUri) || (p == xmlnsPrefix && u != xmlnsUri)
        || (u == xmlnsUri && p != xmlnsPrefix)
  | none, some u =>
      (name == xmlnsPrefix && u != xmlnsUri) || (u == xmlnsUri && name != xmlnsPrefix)
  | none, none => false

/-- The name with these parts, if the rules of namespaces allow it. -/
def ofParts (uri pfx : Option Text) (rest name : Text) : Except TreeFault QName :=
  if isMismatch uri pfx name then .error .namespaceMismatch else .ok ⟨uri, pfx, rest⟩

/-- The name with the text `name` in the namespace `uri`.  The text must be a name with at most
one colon that separates two parts, and it must fit the namespace. -/
def ofText (uri : Option Text) (name : Text) : Except TreeFault QName :=
  if !Name.isValid name then .error .invalidCharacter
  else
    match splitAtColon? name with
    | none => ofParts (someNamespace uri) none name name
    | some (pfx, rest) =>
        if rest.isEmpty || rest.elem ':' then .error .namespaceMismatch
        else ofParts (someNamespace uri) (some pfx) rest name

theorem eq_of_splitAtColon? {name pfx rest : Text} (h : splitAtColon? name = some (pfx, rest)) :
    name = pfx ++ ':' :: rest := by
  unfold splitAtColon? at h
  split at h
  · simp at h
  · simpa using Text.eq_of_cutAt h

theorem eq_of_ofParts {uri pfx : Option Text} {rest name : Text} {q : QName}
    (h : ofParts uri pfx rest name = .ok q) : q = ⟨uri, pfx, rest⟩ := by
  unfold ofParts at h
  split at h
  · simp at h
  · exact (Except.ok.inj h).symm

/-- A name is written as the text that it was made from. -/
theorem text_ofText {uri : Option Text} {name : Text} {q : QName}
    (h : ofText uri name = .ok q) : q.text = name := by
  unfold ofText at h
  split at h
  · simp at h
  · split at h
    · rw [eq_of_ofParts h]; rfl
    · rename_i pfx rest hs
      split at h
      · simp at h
      · rw [eq_of_ofParts h]
        exact (eq_of_splitAtColon? hs).symm

end QName

end XmlScribe
