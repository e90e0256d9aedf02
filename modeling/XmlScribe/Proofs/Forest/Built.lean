/-
**Trees that are put together from names and strings.**

Elements are made with names that lie in a namespace or in none, and so are attributes; texts,
sections, comments and processing instructions are made from any strings.  What the nodes of a forest
carry that is put together in this way is what the rules of namespaces have made of the names, and
there is no document type.

Main definitions:

* `Change.Builds` — the calls that put a tree together;
* `Payload.IsBuilt`, `Forest.IsBuilt` — what the nodes carry after such calls.

Main results:

* `Forest.IsBuilt.apply`, `Forest.isBuilt_run` — a call keeps that, and so do any calls.
-/

import XmlScribe.Proofs.Forest.Carried
import XmlScribe.Proofs.Forest.Linked
import XmlScribe.Proofs.Markup.Attributes
import XmlScribe.Proofs.Name.Split

set_option autoImplicit false

namespace XmlScribe

/-- The call puts a tree together from names and strings that have no null character where it could
not be written. -/
def Change.Builds : Change → Prop
  | addDocument => True
  | createElementNs _ uri _ => '\x00' ∉ uri.getD []
  | createText _ data => '\x00' ∉ data
  | createCData _ data => '\x00' ∉ data
  | createComment _ _ => True
  | createInstruction _ _ _ => True
  | setAttributeNs _ uri _ value => '\x00' ∉ uri.getD [] ∧ '\x00' ∉ value
  | appendChild _ _ => True
  | setData _ data => '\x00' ∉ data
  | _ => False

instance : DecidablePred Change.Builds
  | .addDocument | .createComment _ _ | .createInstruction _ _ _ | .appendChild _ _ => isTrue trivial
  | .createElementNs _ uri _ => inferInstanceAs (Decidable ('\x00' ∉ uri.getD []))
  | .createText _ data | .createCData _ data | .setData _ data =>
      inferInstanceAs (Decidable ('\x00' ∉ data))
  | .setAttributeNs _ uri _ value =>
      inferInstanceAs (Decidable ('\x00' ∉ uri.getD [] ∧ '\x00' ∉ value))
  | .createElement _ _ | .createDoctype _ _ _ _ | .insertBefore _ _ _ | .removeChild _ _
  | .setAttribute _ _ _ | .removeAttribute _ _ | .setAttrValue _ _ | .appendData _ _
  | .setSubset _ _ | .addEntity _ _ | .setDeclaration _ _ | .setReadOnly _ _ => isFalse id

/-- The rules of namespaces have made the name, and its namespace has no null character. -/
structure QName.IsBuilt (q : QName) : Prop where
  /-- The rules have made it. -/
  isMade : q.IsMade
  /-- The namespace can be written. -/
  not_mem : '\x00' ∉ q.binding.uriText

/-- The attribute has such a name and a value without null characters. -/
structure Attribute.IsBuilt (a : Attribute) : Prop where
  /-- The name. -/
  name : a.name.IsBuilt
  /-- The value. -/
  not_mem : '\x00' ∉ a.value

/-- What a node carries that has been made from names and strings. -/
def Payload.IsBuilt : Payload → Prop
  | document declaration _ => declaration = .none
  | element name cells => name.IsBuilt ∧ ∀ cell ∈ cells, cell.attr.IsBuilt
  | text data => '\x00' ∉ data
  | cdata data => '\x00' ∉ data
  | comment _ => True
  | instruction target _ => Instruction.checkTarget target = .ok ()
  | doctype _ => False

theorem QName.isBuilt_of_ofText {uri : Option Text} {name : Text} {q : QName}
    (h : ofText uri name = .ok q) (hu : '\x00' ∉ uri.getD []) : q.IsBuilt := by
  refine ⟨isMade_of_ofText h, ?_⟩
  rw [Binding.uriText, binding, namespaceUri_of_ofText h]
  rcases uri with _ | _ | ⟨c, u⟩
  · exact List.not_mem_nil
  · exact List.not_mem_nil
  · exact hu

/-- Other data without null characters keeps what a node carries. -/
theorem Payload.IsBuilt.withData {payload : Payload} (h : payload.IsBuilt) {data : Text}
    (hd : '\x00' ∉ data) : (Forest.withData data payload).IsBuilt := by
  cases payload with
  | text _ => exact hd
  | cdata _ => exact hd
  | _ => exact h

namespace Forest

/-- All nodes carry what has been made from names and strings. -/
def IsBuilt (F : Forest) : Prop :=
  ∀ id payload, F.payload? id = some payload → payload.IsBuilt

theorem isBuilt_empty : empty.IsBuilt :=
  carries_empty

namespace IsBuilt

variable {F G : Forest} (hF : F.IsBuilt)
include hF

theorem carries : F.Carries Payload.IsBuilt :=
  hF

theorem of_get? {id : NodeId} {node : Node} (h : F.get? id = some node) : node.payload.IsBuilt :=
  hF.carries.of_get? h

theorem of_payload? (h : ∀ id, G.payload? id = F.payload? id) : G.IsBuilt :=
  hF.carries.of_payload? h

/-- Setting an attribute keeps what the nodes carry, if the value and a new name may be there. -/
theorem put {id : NodeId} {same : AttrCell → Bool} {new : AttrCell} (h : new.attr.IsBuilt) :
    (F.modifyCells id (Attribute.put same (withValue new.attr.value) new)).IsBuilt :=
  hF.carries.modifyCells fun _ _ hn =>
    ⟨hn.1, Attribute.forall_mem_put hn.2 (fun _ hc => ⟨hc.name, h.not_mem⟩) h⟩

theorem setAttributeNs {id : NodeId} {uri : Option Text} {name value : Text}
    (hu : '\x00' ∉ uri.getD []) (hv : '\x00' ∉ value)
    (h : F.setAttributeNs id uri name value = .ok G) : G.IsBuilt := by
  obtain ⟨q, hq, h⟩ := Outcome.bind_eq_ok_iff.1 h
  refine hF.carries.putAttribute h fun r cells hn => ⟨hn.1, ?_⟩
  exact Attribute.forall_mem_put hn.2 (fun _ hc => ⟨hc.name, hv⟩)
    ⟨QName.isBuilt_of_ofText hq hu, hv⟩

/-- A call that is not refused keeps what the nodes carry. -/
theorem apply (hlinks : F.IsWellLinked) {change : Change} (hc : change.Builds)
    (h : change.apply F = .ok G) : G.IsBuilt := by
  cases change with
  | addDocument => exact Except.ok.inj h ▸ hF.carries.add (show Declaration.none = .none from rfl)
  | createElementNs doc uri name =>
      refine hF.carries.of_madeBy (fun M hM => ?_) h
      obtain ⟨q, hq, rfl⟩ := Outcome.map_eq_ok_iff.1 hM
      exact ⟨.element q [], ⟨QName.isBuilt_of_ofText hq hc, by simp⟩, rfl⟩
  | createText doc data =>
      exact hF.carries.of_madeBy (fun M hM => ⟨.text data, hc, Except.ok.inj hM.symm⟩) h
  | createCData doc data =>
      exact hF.carries.of_madeBy (fun M hM => ⟨.cdata data, hc, Except.ok.inj hM.symm⟩) h
  | createComment doc data =>
      exact hF.carries.of_madeBy (fun M hM => ⟨.comment data, trivial, Except.ok.inj hM.symm⟩) h
  | createInstruction doc target data =>
      refine hF.carries.of_madeBy (fun M hM => ?_) h
      obtain ⟨⟨⟩, ht, rfl⟩ := Outcome.map_eq_ok_iff.1 hM
      exact ⟨.instruction target data, ht, rfl⟩
  | setAttributeNs id uri name value => exact hF.setAttributeNs hc.1 hc.2 h
  | appendChild parent child => exact hF.of_payload? (hlinks.insertBefore h).2.1
  | setData id data =>
      obtain ⟨_, -, rfl⟩ := Outcome.map_eq_ok_iff.1 h
      exact hF.carries.modify fun node hn => hn.withData hc
  | _ => exact hc.elim

end IsBuilt

/-- After any calls that put a tree together, the nodes carry what is made from names and strings. -/
theorem isBuilt_run {changes : List Change} (h : ∀ change ∈ changes, change.Builds) :
    (empty.run changes).IsBuilt := by
  have key : ∀ F : Forest, F.IsWellLinked → F.IsBuilt → (F.run changes).IsBuilt := by
    induction changes with
    | nil => exact fun F _ hF => hF
    | cons change changes ih =>
        intro F hlinks hF
        refine ih (fun c hc => h c (by simp [hc])) (F.step change) (hlinks.step change) ?_
        rw [step]
        cases ha : change.apply F with
        | ok G => exact hF.apply hlinks (h change (by simp)) ha
        | error fault => exact hF
  exact key empty isWellLinked_empty isBuilt_empty

end Forest

end XmlScribe
