/-
**Adding missing namespace declarations.**

A tree that has been put together from parts may use prefixes that nothing declares.  Completion
goes through an element and the elements below it, in the order of the document, and adds the
declarations that are missing.  A declaration of a prefix is placed on a common element further up
where this changes the meaning of no name between; otherwise, and for the default namespace, it is
placed on the element that needs it.

Main definitions:

* `Forest.scope` — the namespace scope of an element;
* `Forest.declare` — a declaration is added to an element;
* `Forest.canHoist` — a declaration may be placed further up;
* `Forest.ensureDeclared` — all missing declarations are added.

A change may be refused after others have been made; these then stand.
-/

import XmlScribe.Forest.Attributes
import XmlScribe.Namespace.Scope

set_option autoImplicit false

namespace XmlScribe

namespace Forest

/-- The name and the attributes of an element. -/
def frame? (F : Forest) (id : NodeId) : Option Frame :=
  match F.payload? id with
  | some (.element name cells) => some ⟨name, cells.map AttrCell.attr⟩
  | _ => none

/-- An element and the elements around it, from the inside out. -/
def elementLineage (F : Forest) (id : NodeId) : List NodeId :=
  (F.lineage id).takeWhile F.isElement

/-- The namespace scope of an element. -/
def scope (F : Forest) (id : NodeId) : Scope :=
  (F.elementLineage id).filterMap F.frame?

/-- The elements at and below a node, in the order of the document. -/
def elementsFrom (F : Forest) (id : NodeId) : List NodeId :=
  (F.preorder id).filter F.isElement

/-! ### One declaration -/

/-- The forest with a declaration of the binding on an element, where one that is there is
overwritten.  Bindings that hold in every document are not declared. -/
def declare (F : Forest) (target : NodeId) (b : Binding) : Except TreeFault Forest :=
  if b.isImplicit then .ok F
  else F.setAttributeNs target (some xmlnsUri) b.declarationName b.uriText

/-- The name has the prefix of the binding but lies in another namespace. -/
def conflicts (b : Binding) (name : QName) : Bool :=
  name.nsPrefix == b.nsPrefix && name.namespaceUri.getD [] != b.uriText

/-- The elements from `element` up to `target`, if `target` is one of those around it. -/
def pathTo? (F : Forest) (element target : NodeId) : Option (List NodeId) :=
  let lineage := F.elementLineage element
  if lineage.elem target then some (lineage.takeWhile (· != target) ++ [target]) else none

/-- No element on the way from `element` to `target` declares the prefix already, and no name at
`target` has it for another namespace. -/
def canHoist (F : Forest) (target element : NodeId) (b : Binding) : Bool :=
  match F.pathTo? element target, F.frame? target with
  | some path, some frame =>
      (path.filterMap F.frame?).all (fun f => (f.declaration? b.nsPrefix).isNone)
        && !conflicts b frame.name && !frame.attributes.any fun a => conflicts b a.name
  | _, _ => false

/-- The element that a missing declaration is added to. -/
def placeOf (F : Forest) (target : Option NodeId) (element : NodeId) (b : Binding) : NodeId :=
  match target with
  | some t => if b.nsPrefix.isSome && F.canHoist t element b then t else element
  | none => element

/-! ### All declarations -/

/-- The forest with the bindings that an element relies on declared, and the number of
declarations that were missing. -/
def ensureBindings (F : Forest) (target : Option NodeId) (element : NodeId) :
    List Binding → Forest × Except TreeFault Nat
  | [] => (F, .ok 0)
  | b :: bindings =>
      if (F.scope element).declares b then F.ensureBindings target element bindings
      else
        match F.declare (F.placeOf target element b) b with
        | .error fault => (F, .error fault)
        | .ok G =>
            let (H, count) := G.ensureBindings target element bindings
            (H, count.map (· + 1))

/-- The forest with the bindings that some elements rely on declared, and the number of
declarations that were missing. -/
def ensureElements (F : Forest) (target : Option NodeId) :
    List NodeId → Forest × Except TreeFault Nat
  | [] => (F, .ok 0)
  | element :: elements =>
      match F.ensureBindings target element (F.scope element).undeclared with
      | (G, .error fault) => (G, .error fault)
      | (G, .ok n) =>
          let (H, count) := G.ensureElements target elements
          (H, count.map (n + ·))

/-- The forest with the bindings that an element relies on declared, or, if `deep` is set, those of
all elements below it too; and the number of declarations that were missing. -/
def ensureDeclared (F : Forest) (element : NodeId) (target : Option NodeId) (deep : Bool) :
    Forest × Except TreeFault Nat :=
  F.ensureElements target (if deep then F.elementsFrom element else [element])

end Forest

end XmlScribe
